import AgentsAtScale.Data.Groups
import AgentsAtScale.Airline.Service

namespace AgentsAtScale.Airline

open Transaction Data

namespace Python

abbrev Results := List (UUID × AvailableFlight)

def Results.setdefault (results : Results) (flight : FlightValue) : Results :=
  if results.any fun entry => entry.1 = flight.id then results
  else results ++ [(flight.id, { flight := flight, fares := [] })]

def Results.append (results : Results) (id : UUID) (fare : AvailableFare) : Results :=
  results.map fun entry =>
    if entry.1 = id then (entry.1, { entry.2 with fares := entry.2.fares ++ [fare] }) else entry

def Results.add (results : Results) (row : SearchAvailableFlightsRow) : Results :=
  (results.setdefault row.flight).append row.flight.id
    { fareClass := row.fareClass, flightFare := row.flightFare }

end Python

section

open Python

/-- The dictionary of the Python search next to the slice and index map of the Go search. -/
structure Go.Grouping.Matches (g : Go.Grouping) (results : Results) : Prop where
  values : g.results = results.map Prod.snd
  indexes : ∀ id index, g.indexes id = some index ↔ (results.map Prod.fst)[index]? = some id
  nodup : (results.map Prod.fst).Nodup

theorem Go.Grouping.Matches.start : Grouping.Matches {} [] := ⟨rfl, by simp, List.nodup_nil⟩

variable {g : Go.Grouping} {results : Results}

theorem Python.Results.keys_append (results : Results) (id : UUID) (fare : AvailableFare) :
    (results.append id fare).map Prod.fst = results.map Prod.fst := by
  rw [Results.append, List.map_map]
  apply List.map_congr_left
  intro entry _
  simp only [Function.comp_apply]
  split <;> rfl

theorem Python.Results.values_append {index : Nat} {id : UUID} {fare : AvailableFare}
    (hnodup : (results.map Prod.fst).Nodup) (hindex : (results.map Prod.fst)[index]? = some id) :
    (results.append id fare).map Prod.snd = (results.map Prod.snd).modify index fun result =>
      { result with fares := result.fares ++ [fare] } := by
  apply List.ext_getElem?
  intro i
  rw [List.getElem?_modify, Results.append, List.getElem?_map, List.getElem?_map, List.getElem?_map]
  cases hi : results[i]? with
  | none => simp
  | some entry =>
    have hkey : (results.map Prod.fst)[i]? = some entry.1 := by rw [List.getElem?_map, hi]; rfl
    by_cases heq : index = i
    · subst heq
      have hid : entry.1 = id := Option.some.inj (hkey.symm.trans hindex)
      simp [hid]
    · have hid : entry.1 ≠ id := by
        rintro rfl
        exact heq ((List.getElem?_inj (List.getElem?_eq_some_iff.mp hindex).1 hnodup).mp
          (hindex.trans hkey.symm))
      simp [hid, heq]

theorem Python.Results.setdefault_of_mem {flight : FlightValue}
    (h : flight.id ∈ results.map Prod.fst) : results.setdefault flight = results := by
  obtain ⟨entry, hmem, hid⟩ := List.mem_map.mp h
  rw [setdefault, if_pos]
  exact List.any_eq_true.mpr ⟨entry, hmem, decide_eq_true hid⟩

theorem Python.Results.setdefault_of_not_mem {flight : FlightValue}
    (h : flight.id ∉ results.map Prod.fst) :
    results.setdefault flight = results ++ [(flight.id, { flight := flight, fares := [] })] := by
  rw [setdefault, if_neg]
  intro hany
  obtain ⟨entry, hmem, hid⟩ := List.any_eq_true.mp hany
  exact h (List.mem_map.mpr ⟨entry, hmem, of_decide_eq_true hid⟩)

theorem Go.Grouping.Matches.append (h : g.Matches results) {index : Nat} {id : UUID}
    (hindex : g.indexes id = some index) (fare : AvailableFare) :
    Grouping.Matches
      { g with
        results := g.results.modify index fun result =>
          { result with fares := result.fares ++ [fare] } }
      (results.append id fare) where
  values := by
    rw [Results.values_append h.nodup ((h.indexes id index).mp hindex), ← h.values]
  indexes id' index' := by
    rw [Results.keys_append]
    exact h.indexes id' index'
  nodup := by
    rw [Results.keys_append]
    exact h.nodup

theorem getElem?_concat_of_not_mem {keys : List UUID} {new id : UUID} (hnew : new ∉ keys)
    (index : Nat) :
    (keys ++ [new])[index]? = some id ↔
      if id = new then index = keys.length else keys[index]? = some id := by
  rcases Nat.lt_trichotomy index keys.length with hlt | rfl | hgt
  · rw [List.getElem?_append_left hlt]
    split
    · rename_i hid
      have hne : keys[index]? ≠ some id := fun hold => hnew (hid ▸ List.mem_of_getElem? hold)
      exact ⟨fun hold => absurd hold hne, fun heq => absurd heq (Nat.ne_of_lt hlt)⟩
    · rfl
  · rw [List.getElem?_concat_length, List.getElem?_eq_none (Nat.le_refl _), Option.some.injEq]
    split
    · rename_i hid
      exact ⟨fun _ => rfl, fun _ => hid.symm⟩
    · rename_i hid
      exact ⟨fun heq => absurd heq.symm hid, nofun⟩
  · rw [List.getElem?_eq_none (by rw [List.length_append]; exact hgt),
      List.getElem?_eq_none (Nat.le_of_lt hgt)]
    split
    · exact ⟨nofun, fun heq => absurd heq (Nat.ne_of_gt hgt)⟩
    · rfl

theorem Go.Grouping.Matches.not_mem (h : g.Matches results) {id : UUID} (hnew : g.indexes id = none) :
    id ∉ results.map Prod.fst := by
  intro hmem
  obtain ⟨index, hindex⟩ := List.mem_iff_getElem?.mp hmem
  cases hnew.symm.trans ((h.indexes id index).mpr hindex)

theorem Go.Grouping.Matches.insert (h : g.Matches results) (flight : FlightValue)
    (hnew : g.indexes flight.id = none) :
    Grouping.Matches
      { results := g.results ++ [{ flight := flight, fares := [] }]
        indexes := Function.update g.indexes flight.id (some g.results.length) }
      (results ++ [(flight.id, { flight := flight, fares := [] })]) where
  values := by
    rw [List.map_append, h.values]
    rfl
  indexes id index := by
    have hlength : g.results.length = (results.map Prod.fst).length := by
      rw [h.values, List.length_map, List.length_map]
    rw [List.map_append, List.map_singleton, getElem?_concat_of_not_mem (h.not_mem hnew), hlength]
    simp only [Function.update_apply]
    split
    · rw [Option.some.injEq, eq_comm]
    · exact h.indexes id index
  nodup := by
    rw [List.map_append, List.map_singleton, ← List.concat_eq_append]
    exact h.nodup.concat (h.not_mem hnew)

theorem Go.Grouping.Matches.add (h : g.Matches results) (row : SearchAvailableFlightsRow) :
    (g.add row).Matches (results.add row) := by
  rw [Results.add]
  cases hindex : g.indexes row.flight.id with
  | some index =>
    have hmem := List.mem_of_getElem? ((h.indexes row.flight.id index).mp hindex)
    rw [Results.setdefault_of_mem hmem]
    simp only [Grouping.add, hindex]
    exact h.append hindex _
  | none =>
    rw [Results.setdefault_of_not_mem (h.not_mem hindex)]
    simp only [Grouping.add, hindex]
    exact (h.insert row.flight hindex).append (Function.update_self ..) _

theorem Go.Grouping.Matches.foldl (h : g.Matches results) (rows : List SearchAvailableFlightsRow) :
    (rows.foldl Grouping.add g).Matches (rows.foldl Results.add results) := by
  induction rows generalizing g results with
  | nil => exact h
  | cons row rows ih => exact ih (h.add row)

end

def SearchAvailableFlightsRow.fare (row : SearchAvailableFlightsRow) : AvailableFare where
  fareClass := row.fareClass
  flightFare := row.flightFare

def SearchAvailableFlightsRow.result (rows : List SearchAvailableFlightsRow)
    (row : SearchAvailableFlightsRow) : AvailableFlight where
  flight := row.flight
  fares := (alike (·.flight.id) rows row).map (·.fare)

def groupByFlight (rows : List SearchAvailableFlightsRow) : List AvailableFlight :=
  (firsts (·.flight.id) rows).map (·.result rows)

section

variable {rows : List SearchAvailableFlightsRow}

@[simp] theorem result_flight (first : SearchAvailableFlightsRow) :
    (first.result rows).flight = first.flight := rfl

theorem result_concat (first row : SearchAvailableFlightsRow) :
    first.result (rows ++ [row]) =
      if first.flight.id = row.flight.id then
        { first.result rows with fares := (first.result rows).fares ++ [row.fare] }
      else first.result rows := by
  simp only [SearchAvailableFlightsRow.result, alike_concat, eq_comm (a := row.flight.id)]
  split <;> simp

theorem result_fares_of_not_mem {row : SearchAvailableFlightsRow}
    (h : row.flight.id ∉ rows.map (·.flight.id)) : (row.result rows).fares = [] := by
  rw [SearchAvailableFlightsRow.result, alike_eq_nil h, List.map_nil]

theorem mem_groupByFlight {result : AvailableFlight} (h : result ∈ groupByFlight rows) :
    (∃ row ∈ rows, row.flight = result.flight) ∧
      ∀ fare ∈ result.fares, ∃ row ∈ rows, row.flight.id = result.flight.id ∧ row.fare = fare := by
  obtain ⟨first, hfirst, rfl⟩ := List.mem_map.mp h
  refine ⟨⟨first, mem_of_mem_firsts hfirst, rfl⟩, fun fare hfare => ?_⟩
  obtain ⟨row, hrow, rfl⟩ := List.mem_map.mp hfare
  obtain ⟨hmem, hid⟩ := List.mem_filter.mp hrow
  exact ⟨row, hmem, of_decide_eq_true hid, rfl⟩

end

namespace Python

def Results.ofRows (rows : List SearchAvailableFlightsRow) : Results :=
  (groupByFlight rows).map fun result => (result.flight.id, result)

theorem Results.keys_ofRows (rows : List SearchAvailableFlightsRow) :
    (ofRows rows).map Prod.fst = (firsts (·.flight.id) rows).map (·.flight.id) := by
  rw [ofRows, groupByFlight, List.map_map, List.map_map]
  rfl

theorem Results.append_ofRows (rows : List SearchAvailableFlightsRow)
    (row : SearchAvailableFlightsRow) :
    (ofRows rows).append row.flight.id row.fare =
      (firsts (·.flight.id) rows).map fun first =>
        (first.flight.id, first.result (rows ++ [row])) := by
  rw [append, ofRows, groupByFlight, List.map_map, List.map_map]
  apply List.map_congr_left
  intro first _
  by_cases hid : first.flight.id = row.flight.id
  · simp [result_concat, hid]
  · simp [result_concat, hid]

theorem Results.add_ofRows (rows : List SearchAvailableFlightsRow)
    (row : SearchAvailableFlightsRow) : (ofRows rows).add row = ofRows (rows ++ [row]) := by
  have hkeys : row.flight.id ∈ (ofRows rows).map Prod.fst ↔ row.flight.id ∈ rows.map (·.flight.id) := by
    rw [keys_ofRows, mem_keys_firsts]
  have hadd : ofRows (rows ++ [row]) = (firsts (·.flight.id) (rows ++ [row])).map fun first =>
      (first.flight.id, first.result (rows ++ [row])) := by
    rw [ofRows, groupByFlight, List.map_map]
    rfl
  rw [add, hadd]
  by_cases hmem : row.flight.id ∈ rows.map (·.flight.id)
  · rw [setdefault_of_mem (hkeys.mpr hmem), firsts_concat_of_mem hmem]
    exact append_ofRows rows row
  · rw [setdefault_of_not_mem (mt hkeys.mp hmem), firsts_concat_of_not_mem hmem, List.map_append,
      ← append_ofRows, append, List.map_append]
    have hresult : row.result (rows ++ [row]) = { flight := row.flight, fares := [row.fare] } := by
      rw [result_concat, if_pos rfl, result_fares_of_not_mem hmem]
      rfl
    simp [append, hresult, SearchAvailableFlightsRow.fare]

theorem Results.foldl_add_eq (rows : List SearchAvailableFlightsRow) :
    rows.foldl Results.add [] = ofRows rows := by
  induction rows using List.reverseRecOn with
  | nil => rfl
  | append_singleton rows row ih => rw [List.foldl_concat, ih, add_ofRows]

theorem Results.values_foldl_add (rows : List SearchAvailableFlightsRow) :
    (rows.foldl Results.add []).map Prod.snd = groupByFlight rows := by
  rw [foldl_add_eq, ofRows, List.map_map]
  exact List.map_id _

end Python

theorem Go.Grouping.results_foldl_add (rows : List SearchAvailableFlightsRow) :
    (rows.foldl Go.Grouping.add {}).results = groupByFlight rows := by
  rw [(Matches.start.foldl rows).values, Python.Results.values_foldl_add]

/-- What the flights of a search are to its rows: one entry per flight, in the order in
which the flights come up, each with the flight of its first row and the fares of all
its rows. -/
structure Grouped (rows : List SearchAvailableFlightsRow) (results : List AvailableFlight) : Prop where
  ids : results.map (·.flight.id) = (rows.map (·.flight.id)).eraseDups
  flight : ∀ result ∈ results,
    (rows.find? (·.flight.id = result.flight.id)).map (·.flight) = some result.flight
  fares : ∀ result ∈ results,
    result.fares = (rows.filter (·.flight.id = result.flight.id)).map (·.fare)
  total : (results.map (·.fares.length)).sum = rows.length

theorem grouped_groupByFlight (rows : List SearchAvailableFlightsRow) :
    Grouped rows (groupByFlight rows) where
  ids := by
    rw [groupByFlight, List.map_map, ← keys_firsts]
    rfl
  flight result hresult := by
    obtain ⟨first, hfirst, rfl⟩ := List.mem_map.mp hresult
    rw [result_flight, find?_of_mem_firsts hfirst, Option.map_some]
  fares result hresult := by
    obtain ⟨first, -, rfl⟩ := List.mem_map.mp hresult
    rfl
  total := by
    rw [groupByFlight, List.map_map]
    calc _ = ((firsts (·.flight.id) rows).map fun row => (alike (·.flight.id) rows row).length).sum :=
          congrArg List.sum (List.map_congr_left fun row _ => List.length_map _)
      _ = rows.length := sum_length_alike rows

theorem grouping_agrees (rows : List SearchAvailableFlightsRow) :
    (rows.foldl Go.Grouping.add {}).results = (rows.foldl Python.Results.add []).map Prod.snd ∧
      Grouped rows ((rows.foldl Python.Results.add []).map Prod.snd) := by
  rw [Go.Grouping.results_foldl_add, Python.Results.values_foldl_add]
  exact ⟨rfl, grouped_groupByFlight rows⟩

end AgentsAtScale.Airline
