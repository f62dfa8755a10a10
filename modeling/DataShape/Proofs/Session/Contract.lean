-- SUMMARY: Loading an ordinary text gives a shape or a fault of a definition, in every session.
import Mathlib.Control.Monad.Basic
import DataShape.Proofs.Definition.Faults
import DataShape.Proofs.Session.Run

/-!
# What a load may report

A load is to give a shape or a fault of a definition, whatever the text. It does
so for every ordinary text. It does not where a scalar cannot be read under its
tag: the fault of the scalar comes out as it is.
-/

namespace DataShape.Session

/-- Whether a load gave a shape or a fault of a definition. -/
def IsReported (step : Step (Except Definition.ReadFault Loaded)) : Prop :=
  (∃ loaded, step.result = .ok loaded) ∨ ∃ fault, step.result = .error (.raised (.schema fault))

/-- Whatever is cached and configured, nothing else comes out of loading an ordinary text, if the
limit on depth can be told. -/
theorem isReported_load (s : Session) {t : Text} (h : Yaml.IsOrdinary s.host t)
    (hlimit : Numeral.isWritable s.config.definitionDepthLimit = true) :
    IsReported (s.load t) := by
  rcases load_cases s t with ⟨loaded, -, hload⟩ | ⟨f, -, hread, hload⟩ | ⟨loaded, -, -, hload⟩
  · exact .inl ⟨loaded, by rw [hload]⟩
  · rcases Definition.read_cases h hlimit with ⟨shape, hok⟩ | ⟨fault, hfault⟩
    · rw [hok] at hread
      cases hread
    · rw [hfault] at hread
      cases hread
      exact .inr ⟨fault, by rw [hload]⟩
  · exact .inl ⟨loaded, by rw [hload]⟩

/-- A date has no JSON form, also where it is shared. -/
theorem isReported_load_shared_date :
    let text : Text := "union: [&day \x7bliteral: 2024-02-29\x7d, \x7boptional: *day\x7d]"
    let fresh := start .shallow
    Yaml.IsOrdinary fresh.host text ∧
      Numeral.isWritable fresh.config.definitionDepthLimit = true ∧
      (fresh.load text).result.toBool = false ∧
      ∃ fault, (fresh.load text).result = .error (.raised (.schema fault)) := by
  intro text fresh
  have hordinary : Yaml.IsOrdinary fresh.host text := by
    have hranks : Yaml.isOrdinaryBy .shallow (fun i => [5, 0, 4, 1, 0, 0, 2, 0].getD i 0) text =
        true := by
      decide +kernel
    exact Yaml.isOrdinary_of_isOrdinaryBy hranks
  have hlimit : Numeral.isWritable fresh.config.definitionDepthLimit = true := by decide +kernel
  have hfails : (fresh.load text).result.toBool = false := by decide +kernel
  refine ⟨hordinary, hlimit, hfails, ?_⟩
  rcases isReported_load fresh hordinary hlimit with ⟨loaded, hok⟩ | hfault
  · rw [hok] at hfails
    cases hfails
  · exact hfault

/-- The fault of a scalar that cannot be read comes out as it is. -/
theorem load_of_scalar_fault {s : Session} {t : Text} {f : Yaml.ScalarFault}
    (hlookup : s.lookup t = none) (hread : Yaml.read s.host t = .error (.scalar f)) :
    (s.load t).result = .error (.scalar f) := by
  simp only [load, hlookup, Definition.read, hread]

/-- No February has thirty days, and the calendar itself says so. -/
theorem not_isReported_load_impossible_day :
    ¬ IsReported ((start .shallow).load "literal: 2024-02-30") := by
  have hread : Yaml.read .shallow "literal: 2024-02-30" = .error (.scalar (.calendar .day)) := by
    decide +kernel
  have hload := load_of_scalar_fault (s := start .shallow) rfl hread
  rintro (⟨loaded, hok⟩ | ⟨fault, hfault⟩)
  · rw [hload] at hok
    cases hok
  · rw [hload] at hfault
    cases hfault

end DataShape.Session
