import Proximity.Geocode.Recency
import Proximity.Proofs.Transparency

/-!
# What a search looks up

A search can end before its geocoder is reached, because it has no options or because the field of
its radius cannot be used, and most kinds of targets are not looked up at all. So a search sends one
query or none, and which one can be told from its options and the layout alone (`lookup?`), whatever
the geocoder answers. What reaches a geocoder in a series of searches are these queries in a row.
-/

namespace Proximity

open Sql

namespace SearchOptions

/-- There are options, and the radius, if they ask for one, is that of a number field. -/
def isAccepted (o : SearchOptions) (field : AddressField) : Bool :=
  !o.isEmpty && o.reverseRadius.all fun handle =>
    (field.layout handle).any fun f => f.kind == .number

/-- The query that a search sends to its geocoder, if it sends one. -/
def lookup? (o : SearchOptions) (field : AddressField) : Option GeocodeQuery :=
  if o.isAccepted field then
    match o.target with
    | some (.text t) => if Text.blank t then none else some (.text t)
    | some (.structured fields) => some (.structured fields)
    | _ => none
  else none

variable (o : SearchOptions) (field : AddressField)

theorem isAccepted_eq (range : Float) (units : Units) :
    o.isAccepted field =
      (!o.isEmpty && (SearchConfig.radiusField field (o.normalizeWith range units)).isOk) := by
  unfold isAccepted SearchConfig.radiusField AddressField.radiusField
  simp only [normalizeWith]
  rcases o.reverseRadius with _ | handle
  · rfl
  · simp only [Option.all_some]
    rcases field.layout handle with _ | f
    · rfl
    · have hk : (f.kind == .number) = f.kind.isNumber := rfl
      simp only [Option.any_some, hk]
      rcases f.kind.isNumber with _ | _ <;> rfl

variable {o field}

theorem lookup?_of_isAccepted (h : o.isAccepted field = true) :
    o.lookup? field = o.target.bind Target.query? := by
  rw [lookup?, if_pos h]
  rcases o.target with _ | _ | t | _ | _
  all_goals try rfl
  simp [Target.query?, Text.trim_eq_empty_iff]

end SearchOptions

namespace SearchConfig

variable {σ : Type} (config : SearchConfig) (g : Geocoder σ) (field : AddressField)
  (o : SearchOptions) (q : ElementQuery) (s : σ)

theorem find_state (target : Option Target) :
    (find g target s).2 =
      (target.bind Target.query?).elim s fun query => (g.lookup query s).2 := by
  rcases target with _ | t
  · rfl
  · rcases hq : t.query? with _ | query <;> simp [find, Geocoder.resolve, hq]

/-- A search leaves its geocoder as the one lookup leaves it, or as it was. -/
theorem state_compile :
    (config.compile g field o q s).state =
      (o.lookup? field).elim s fun query => (g.lookup query s).2 := by
  have ha := o.isAccepted_eq field config.range config.units
  rcases he : o.isEmpty with _ | _
  · rcases hr : radiusField field (o.normalizeWith config.range config.units) with e | radius <;>
      rw [he, hr] at ha
    · rw [compile_of_error config g field he hr, SearchOptions.lookup?, ha]
      rfl
    · rw [compile_of_ok config g field he hr, SearchOptions.lookup?_of_isAccepted ha]
      exact find_state g s o.target
  · rw [he] at ha
    rw [compile_of_isEmpty config g field he, SearchOptions.lookup?, ha]
    rfl

/-- To note the calls of a geocoder changes nothing that comes of a search. -/
theorem compile_noted (calls : List GeocodeCall) :
    (config.compile g.noted field o q (calls, s)).result = (config.compile g field o q s).result ∧
      (config.compile g.noted field o q (calls, s)).query =
        (config.compile g field o q s).query := by
  rcases config.compile_cases field o q with ⟨_, _, hc⟩ | ⟨query, -, _, _, hc⟩
  · rw [hc, hc]
    exact ⟨rfl, rfl⟩
  · rw [hc, hc]
    exact ⟨rfl, rfl⟩

end SearchConfig

/-- The queries of a series of searches, through gazetteers that note them in one list. -/
theorem compileEach_calls : ∀ (rs : List (Gazetteer × SearchRequest)) (qs : Nat → ElementQuery)
    (calls : List GeocodeQuery),
    (compileEach (rs.map fun r => (r.1.geocoder, r.2)) qs calls).2 =
      calls ++ rs.filterMap fun r => r.2.options.lookup? r.2.field
  | [], _, calls => (List.append_nil calls).symm
  | (g, r) :: rs, qs, calls => by
    have hs : (r.compile g.geocoder (qs r.slot) calls).state =
        calls ++ (r.options.lookup? r.field).toList := by
      rw [SearchRequest.compile, SearchConfig.state_compile]
      rcases r.options.lookup? r.field with _ | query
      · exact (List.append_nil calls).symm
      · rfl
    have ih := compileEach_calls rs
      (Function.update qs r.slot (r.compile g.geocoder (qs r.slot) calls).query)
      (r.compile g.geocoder (qs r.slot) calls).state
    simp only [List.map_cons, compileEach]
    rw [ih, hs, List.append_assoc]
    rcases hl : r.options.lookup? r.field with _ | query <;>
      simp only [List.filterMap_cons, hl, Option.toList_none, Option.toList_some, List.nil_append,
        List.cons_append]

/-- A search sends one query or none to its geocoder, whatever that is and answers: the text of its
target, if that is not blank, or the fields of its target, as they are, and neither if the search
has no options or is refused for the field of its radius. So a series of searches leaves in the list
of a gazetteer, and of others that note their queries in the same list, the queries of its searches
in their order, also where searches are refused and lookups fail. -/
theorem searches_look_up_once :
    (∀ (σ : Type) (config : SearchConfig) (g : Geocoder σ) (field : AddressField)
      (o : SearchOptions) (q : ElementQuery) (s : σ) (calls : List GeocodeCall),
      let out := config.compile g.noted field o q (calls, s)
      let bare := config.compile g field o q s
      out.state.1 =
          ((o.lookup? field).toList.map fun query => ⟨query, (g.lookup query s).1⟩) ++ calls ∧
        out.state.2 = bare.state ∧ out.result = bare.result ∧ out.query = bare.query) ∧
    ∀ (rs : List (Gazetteer × SearchRequest)) (qs : Nat → ElementQuery)
      (calls : List GeocodeQuery),
      (compileEach (rs.map fun r => (r.1.geocoder, r.2)) qs calls).2 =
        calls ++ rs.filterMap fun r => r.2.options.lookup? r.2.field := by
  refine ⟨?_, compileEach_calls⟩
  intro σ config g field o q s calls out bare
  have hout : out.state = _ := config.state_compile g.noted field o q (calls, s)
  have hbare : bare.state = _ := config.state_compile g field o q s
  rw [hout, hbare]
  refine ⟨?_, ?_, config.compile_noted g field o q s calls⟩
  · rcases o.lookup? field with _ | query <;> rfl
  · rcases o.lookup? field with _ | query <;> rfl

-- the first lookup fails, the text of the second search is blank, the third search is refused
example :
    let g : Gazetteer := {}
    let search (o : SearchOptions) : SearchRequest :=
      ⟨.standard, ⟨3, "address", fun _ => none⟩, o, 0⟩
    let failing := g.withFailure "quota exceeded"
    (compileEach [(failing.geocoder, search { target := some (.text "Lima") }),
      (g.geocoder, search { target := some (.text " ") }),
      (g.geocoder, search { target := some (.text "Lima"), reverseRadius := some "reach" }),
      (g.geocoder, search { target := some (.structured []) })] (fun _ => .new .mysql) []).2 =
        [.text "Lima", .structured []] :=
  rfl

end Proximity
