import Texdown.Proofs.WorkingDirectories

/-!
# The passes of an engine

A compilation writes the document and the files that go with it, and then runs its engine on the directory some
number of times. What an engine does to the files is not known, so what a pass finds is told from what the
passes before it left. The first one finds the document as it was given unless another file was written over it,
and an output that nobody wrote in front of the first pass was made in one of them.

Results:
* `exists_runs_calls`: what the passes find, and what is given back behind the last one.
* `find?_before`, `exists_makes`: what the engine leaves alone stays, and what was not there was made.
* `compile_underway`: what a compilation writes and gives back, if it gets to its engine.
-/
namespace Texdown.Engine

open Files (Mirrors Keeps)

/-- What the first passes of an engine leave. -/
def before (e : Installed) (first : Files) : Nat → Files
  | 0 => first
  | k + 1 => (e.run (k + 1) (before e first k)).files

section Passes

variable {e : Installed} {first : Files} {p : Place} {k n : Nat} {data : Bytes}

/-- A pass leaves what stands at a place as it was. -/
def Leaves (e : Installed) (first : Files) (p : Place) (k : Nat) : Prop :=
  (before e first (k + 1)).find? p = (before e first k).find? p

/-- A pass makes a file where there was none. -/
def Makes (e : Installed) (first : Files) (p : Place) (k : Nat) : Prop :=
  (∀ held, (before e first k).find? p ≠ some (.file held)) ∧
    ∃ held, (before e first (k + 1)).find? p = some (.file held)

theorem find?_before (h : ∀ j < k, Leaves e first p j) : (before e first k).find? p = first.find? p := by
  induction k with
  | zero => rfl
  | succ k ih => exact (h k (Nat.lt_succ_self k)).trans (ih fun j hj => h j (Nat.lt_succ_of_lt hj))

/-- A file that was not there at first was made in some pass. -/
theorem exists_makes (hfirst : ∀ held, first.find? p ≠ some (.file held))
    (h : (before e first n).find? p = some (.file data)) : ∃ k < n, Makes e first p k := by
  induction n generalizing data with
  | zero => exact absurd h (hfirst data)
  | succ n ih =>
    by_cases hn : ∃ held, (before e first n).find? p = some (.file held)
    · obtain ⟨held, hheld⟩ := hn
      obtain ⟨k, hk, hmakes⟩ := ih hheld
      exact ⟨k, Nat.lt_succ_of_lt hk, hmakes⟩
    · exact ⟨n, Nat.lt_succ_self n, not_exists.1 hn, data, h⟩

theorem find?_of_output {name : Text} {f : Files} {printed : Bytes} (h : output name f printed = .ok data) :
    f.find? [outputName] = some (.file data) := by
  unfold output at h
  split at h
  · next hfile => rw [hfile, Except.ok.inj h]
  · cases h
  · cases h

/-- Every pass finds what the passes before it left. What is given back is what all of them left. -/
theorem exists_runs_calls (plan : Plan) (first : Files) (n k : Nat) (printed : Bytes) :
    let c := runs plan n (k + 1) (before plan.installed first k) printed
    ∃ m ≤ n, c.calls = (List.range m).map
        (fun j => ⟨command plan.installed.path, before plan.installed first (k + j)⟩) ∧
      ∀ data, c.result = .ok data →
        m = n ∧ (before plan.installed first (k + n)).find? [outputName] = some (.file data) := by
  induction n generalizing k printed with
  | zero => exact ⟨0, Nat.le_refl 0, rfl, fun data h => ⟨rfl, find?_of_output h⟩⟩
  | succ n ih =>
    simp only [runs]
    split
    · exact ⟨1, by omega, rfl, nofun⟩
    · obtain ⟨m, hm, hcalls, hresult⟩ :=
        ih (k + 1) (plan.installed.run (k + 1) (before plan.installed first k)).printed
      refine ⟨m + 1, by omega, ?_, fun data h => ?_⟩
      · simp only [before] at hcalls
        rw [hcalls, List.range_succ_eq_map, List.map_cons, List.map_map]
        refine congrArg₂ List.cons rfl (List.map_congr_left fun j _ => ?_)
        rw [Nat.add_right_comm]
        rfl
      · obtain ⟨hmn, hfile⟩ := hresult data h
        exact ⟨by omega, by rwa [Nat.add_right_comm] at hfile⟩

end Passes

/-! ## Compilations -/

/-- A compilation that gets to its engine, and what its first pass finds. -/
structure Underway (e : Installed) (latex : Text) (extra : List (Text × Bytes)) (passes : Nat) (first : Files)
    (c : Compiled) : Prop where
  /-- Wherever an empty directory stands, the same is written there, and nothing changes that is not below. -/
  contained : ∀ host directory, Mirrors directory host {} →
    ∃ host', writeDocument directory host latex extra = .ok host' ∧ Keeps directory.IsBelow host host' ∧
      Mirrors directory host' first
  inside : ∀ a ∈ extra, nameParts a.1 ≠ [] ∧ ∃ held, first.find? (nameParts a.1) = some (.file held)
  holds : Holds first (writings latex extra)
  calls : ∃ m ≤ passes, c.calls = (List.range m).map fun k => ⟨command e.path, before e first k⟩
  document : ¬ Spelled extra [sourceName] → ∀ k call, c.calls[k]? = some call →
    (∀ j < k, Leaves e first [sourceName] j) →
      call.files.find? [sourceName] = some (.file (Text.toUtf8 latex))
  output : ∀ data, c.result = .ok data →
    c.calls.length = passes ∧ (before e first passes).find? [outputName] = some (.file data)
  made : ∀ data, c.result = .ok data → ¬ Spelled extra [outputName] → ∃ k < passes, Makes e first [outputName] k

theorem exists_contained {latex : Text} {extra : List (Text × Bytes)} {first : Files}
    (h : workingFiles latex extra = .ok first) (host : Files) (directory : Place)
    (hempty : Mirrors directory host {}) :
    ∃ host', writeDocument directory host latex extra = .ok host' ∧ Keeps directory.IsBelow host host' ∧
      Mirrors directory host' first := by
  have hnew : host.find? (directory ++ [sourceName]) = none := by
    rw [hempty.same]
    rfl
  have htogether := together_writeDocument hempty latex extra hnew
  rw [show writeDocument [] {} latex extra = .ok first from h] at htogether
  generalize writeDocument directory host latex extra = written at htogether
  cases htogether with
  | done hmirrors hkeeps => exact ⟨_, rfl, hkeeps, hmirrors⟩

theorem underway_runs {latex : Text} {extra : List (Text × Bytes)} {first : Files}
    (h : workingFiles latex extra = .ok first) (plan : Plan) (n : Nat) :
    Underway plan.installed latex extra n first (runs plan n 1 first []) := by
  obtain ⟨hinside, hholds⟩ := holds_workingFiles h
  obtain ⟨m, hm, hcalls, hresult⟩ := exists_runs_calls plan first n 0 []
  simp only [Nat.zero_add, before] at hcalls hresult
  have hlength : (runs plan n 1 first []).calls.length = m := by
    rw [hcalls, List.length_map, List.length_range]
  refine ⟨exists_contained h, fun a ha => ⟨hinside a ha, ?_⟩, hholds, ⟨m, hm, hcalls⟩, ?_, ?_, ?_⟩
  · obtain ⟨held, hheld⟩ := exists_lookup_writings latex ha
    exact ⟨held, (hholds _ _).2 hheld⟩
  · intro hspelled k call hcall hleaves
    rw [hcalls, List.getElem?_map] at hcall
    obtain ⟨j, hj, rfl⟩ := Option.map_eq_some_iff.1 hcall
    obtain ⟨-, rfl⟩ := List.getElem?_eq_some_iff.1 hj
    rw [List.getElem_range, find?_before hleaves, hholds, lookup_writings latex hspelled, if_pos rfl]
  · intro data hdata
    obtain ⟨rfl, hfile⟩ := hresult data hdata
    exact ⟨hlength, hfile⟩
  · intro data hdata hspelled
    refine exists_makes (fun held hheld => ?_) (hresult data hdata).2
    rw [hholds, lookup_writings latex hspelled, if_neg (by decide)] at hheld
    cases hheld

/-- A compilation fails in front of its engine, because there is no such engine or the files cannot be written,
or it gets there. Then its files are written strictly inside the
working directory, wherever that is; every pass finds the document that was given, unless another file was
written over it or the passes before have changed it; and what is given back stands under the name of the output
behind the last pass, and was made in one of them unless another file had been written there. -/
theorem compile_underway (find : Text → Option Installed) (latex : Text) (engine : Value)
    (extra : List (Text × Bytes)) (timeout : Double) (passes : Int) :
    let c := compile find latex engine extra timeout passes
    (∃ e, c.result = .error e ∧ c.calls = [] ∧
      (e = unknownEngine engine ∨ (∃ name, find name = none ∧ e = notInstalled name) ∨
        workingFiles latex extra = .error e)) ∨
      ∃ name e first, engine.asText? = some name ∧ find name = some e ∧
        Underway e latex extra passes.toNat first c := by
  intro c
  unfold c compile
  split
  · exact .inl ⟨_, rfl, rfl, .inl rfl⟩
  next name hname =>
  split
  · exact .inl ⟨_, rfl, rfl, .inl rfl⟩
  split
  · next hnone => exact .inl ⟨_, rfl, rfl, .inr (.inl ⟨name, hnone, rfl⟩)⟩
  next e he =>
  split
  · next hfailed => exact .inl ⟨_, rfl, rfl, .inr (.inr hfailed)⟩
  next first hfirst =>
  have hruns := underway_runs hfirst ⟨name, e, timeout, passes⟩ passes.toNat
  refine .inr ⟨name, e, first, hname, he, ?_⟩
  simp only
  split
  · exact { hruns with }
  · exact hruns

/-- An engine that prints nothing and does something to the files. -/
def Installed.quiet (act : Files → Files) : Installed where
  path := "/usr/bin/pdflatex".toList
  run _ f := ⟨.finished 0, [], act f⟩

/-- A figure is named with a backslash, and the engine makes the output. -/
theorem compile_underway_figure :
    let e := Installed.quiet fun f => f.put [outputName] (.file [80])
    let c := compile (fun _ => some e) ['x'] (.text "pdflatex".toList) [("figures\\./p.png".toList, [1])]
      defaultTimeout defaultPasses
    c.result = .ok [80] ∧
      ∃ first, Underway e ['x'] [("figures\\./p.png".toList, [1])] 2 first c := by
  intro e c
  have hcalls : c.calls ≠ [] := by
    have hlength : c.calls.length = 2 := by decide +kernel
    exact List.ne_nil_of_length_pos (by omega)
  refine ⟨by decide +kernel, ?_⟩
  rcases compile_underway (fun _ => some e) ['x'] (.text "pdflatex".toList) [("figures\\./p.png".toList, [1])]
    defaultTimeout defaultPasses with ⟨-, -, hnone, -⟩ | ⟨_, _, first, -, he, hunderway⟩
  · exact absurd hnone hcalls
  · cases he
    exact ⟨first, hunderway⟩

/-- An auxiliary file is compiled in place of the document, and another one is given back as the output of an
engine that makes none. -/
theorem auxiliary_file_compiled :
    let c := compile (fun _ => some (.quiet id)) ['x'] (.text "pdflatex".toList)
      [(".\\main.tex".toList, [121]), ("main.pdf".toList, [80])] defaultTimeout 1
    c.result = .ok [80] ∧ c.calls.map (fun call => call.files.find? [sourceName]) = [some (.file [121])] ∧
      Text.toUtf8 ['x'] ≠ [121] := by
  decide +kernel

end Texdown.Engine
