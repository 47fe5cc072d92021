import AgentsAtScale.Transaction.Table
import Mathlib.Data.List.Nodup
import Mathlib.Data.Set.Function

namespace AgentsAtScale.Transaction.Table

variable {ι κ ρ : Type} [DecidableEq κ]

/-- `INSERT INTO ... SELECT ...` on an empty table.  A row that cannot be computed and a
key that comes twice are errors. -/
def insertSelect (row : ι → Option (κ × ρ)) (series : List ι) : Option (Table κ ρ) := do
  let rows ← series.mapM row
  if (rows.map Prod.fst).Nodup then some (.ofList rows) else none

theorem mapM_eq_some_iff {row : ι → Option α} {series : List ι} {rows : List α} :
    series.mapM row = some rows ↔ series.map row = rows.map some := by
  induction series generalizing rows with
  | nil => cases rows <;> simp
  | cons x series ih =>
    simp only [List.mapM_cons, Option.bind_eq_bind, Option.bind_eq_some_iff, Option.pure_def,
      Option.some.injEq, ih, List.map_cons]
    cases rows with
    | nil => simp
    | cons r rows =>
      simp only [List.cons.injEq, List.map_cons]
      constructor
      · rintro ⟨_, hx, _, hseries, rfl, rfl⟩
        exact ⟨hx, hseries⟩
      · rintro ⟨hx, hseries⟩
        exact ⟨r, hx, rows, hseries, rfl, rfl⟩

theorem row_ofList_of_mem {rows : List (κ × ρ)} (hnodup : (rows.map Prod.fst).Nodup) {k : κ} {r : ρ}
    (h : (k, r) ∈ rows) : (ofList rows).row k = some r := by
  simp only [ofList, Option.map_eq_some_iff]
  cases hfind : rows.find? fun x => x.1 = k with
  | none => simpa using List.find?_eq_none.mp hfind _ h
  | some found =>
    have hkey : found.1 = k := by simpa using List.find?_some hfind
    obtain rfl : found = (k, r) :=
      List.inj_on_of_nodup_map hnodup (List.mem_of_find?_eq_some hfind) h hkey
    exact ⟨_, rfl, rfl⟩

section

variable {row : ι → Option (κ × ρ)} {series : List ι} {t : Table κ ρ}

omit [DecidableEq κ] in
theorem nodup_keys_iff {rows : List (κ × ρ)} (h : series.map row = rows.map some) :
    (rows.map Prod.fst).Nodup ↔ (series.map fun x => (row x).map Prod.fst).Nodup := by
  have hkeys : (series.map fun x => (row x).map Prod.fst) = (rows.map Prod.fst).map some := by
    rw [← Function.comp_def, ← List.map_map, h, List.map_map, List.map_map]
    rfl
  rw [hkeys, List.nodup_map_iff (Option.some_injective κ)]

theorem insertSelect_eq_some_iff :
    insertSelect row series = some t ↔ ∃ rows, series.map row = rows.map some ∧
      (rows.map Prod.fst).Nodup ∧ ofList rows = t := by
  simp only [insertSelect, Option.bind_eq_bind, Option.bind_eq_some_iff, mapM_eq_some_iff]
  refine exists_congr fun rows => and_congr_right fun _ => ?_
  split <;> simp_all

theorem row_of_insertSelect (h : insertSelect row series = some t) {x : ι} (hx : x ∈ series) :
    ∃ k r, row x = some (k, r) ∧ t.row k = some r := by
  obtain ⟨rows, hrows, hnodup, rfl⟩ := insertSelect_eq_some_iff.mp h
  have hmem : row x ∈ rows.map some := hrows ▸ List.mem_map_of_mem hx
  obtain ⟨⟨k, r⟩, hr, hx⟩ := List.mem_map.mp hmem
  exact ⟨k, r, hx.symm, row_ofList_of_mem hnodup hr⟩

theorem exists_of_insertSelect (h : insertSelect row series = some t) {k : κ} {r : ρ}
    (hr : t.row k = some r) : ∃ x ∈ series, row x = some (k, r) := by
  obtain ⟨rows, hrows, -, rfl⟩ := insertSelect_eq_some_iff.mp h
  refine of_row_ofList (P := fun k r => ∃ x ∈ series, row x = some (k, r)) ?_ hr
  intro found hfound
  exact List.mem_map.mp (hrows ▸ List.mem_map_of_mem (f := some) hfound)

theorem isSome_insertSelect_iff (hseries : series.Nodup) :
    (insertSelect row series).isSome ↔ (∀ x ∈ series, (row x).isSome) ∧
      Set.InjOn (fun x => (row x).map Prod.fst) {x | x ∈ series} := by
  rw [Option.isSome_iff_exists]
  constructor
  · rintro ⟨t, h⟩
    refine ⟨fun x hx => ?_, ?_⟩
    · obtain ⟨k, r, hrow, -⟩ := row_of_insertSelect h hx
      simp [hrow]
    · obtain ⟨rows, hrows, hnodup, -⟩ := insertSelect_eq_some_iff.mp h
      exact fun x hx y hy heq => List.inj_on_of_nodup_map ((nodup_keys_iff hrows).mp hnodup) hx hy heq
  · rintro ⟨hsome, hinj⟩
    obtain ⟨rows, hrows⟩ : ∃ rows : List (κ × ρ), series.map row = rows.map some := by
      refine ⟨series.filterMap row, ?_⟩
      clear hseries hinj
      induction series with
      | nil => rfl
      | cons x series ih =>
        obtain ⟨r, hr⟩ := Option.isSome_iff_exists.mp (hsome x List.mem_cons_self)
        rw [List.filterMap_cons_some hr, List.map_cons, List.map_cons, hr,
          ih fun y hy => hsome y (List.mem_cons_of_mem x hy)]
    have hnodup := (nodup_keys_iff hrows).mpr (hseries.map_on fun x hx y hy heq => hinj hx hy heq)
    exact ⟨_, insertSelect_eq_some_iff.mpr ⟨rows, hrows, hnodup, rfl⟩⟩

end

end AgentsAtScale.Transaction.Table
