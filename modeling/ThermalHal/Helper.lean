import ThermalHal.Cstd
import Mathlib.Data.List.DropRight

/-!
# Helper utilities

`trim` and the monotonic clock of `vcomponent_ThermalHelper`. The steady clock
itself is an input: what it shows is a parameter of the callers.
-/

namespace ThermalHal

/-- Strip white space from both ends. -/
def trim (input : String) : String :=
  String.ofList ((input.toList.dropWhile isspace).rdropWhile isspace)

/-- No white space at either end. -/
structure Stripped (text : String) : Prop where
  first : ∀ c ∈ text.toList.head?, isspace c = false
  last : ∀ c ∈ text.toList.getLast?, isspace c = false

/-- **`trim` leaves no white space at either end.** -/
theorem stripped_trim (input : String) : Stripped (trim input) := by
  constructor
  · intro c hc
    rw [trim, String.toList_ofList, Option.mem_def] at hc
    -- the first character that stays is the first one `dropWhile` stopped at
    obtain ⟨back, hback⟩ := List.rdropWhile_prefix isspace (l := input.toList.dropWhile isspace)
    have hfirst : (input.toList.dropWhile isspace).head? = some c := by
      rw [← hback, List.head?_append, hc, Option.some_or]
    have hstop := List.head?_dropWhile_not isspace input.toList
    rw [hfirst] at hstop
    exact hstop
  · intro c hc
    rw [trim, String.toList_ofList] at hc
    obtain ⟨hne, rfl⟩ := List.mem_getLast?_eq_getLast hc
    simpa using List.rdropWhile_last_not isspace _ hne

theorem trim_eq_self {text : String} (h : Stripped text) : trim text = text := by
  have hback : text.toList.rdropWhile isspace = text.toList := by
    rw [List.rdropWhile_eq_self_iff]
    intro hne
    simpa using h.last _ (List.getLast_mem_getLast? hne)
  rw [trim, dropWhile_of_head h.first, hback, String.ofList_toList]

/-- `trim` leaves a text alone exactly when there is nothing to strip. -/
theorem trim_eq_self_iff {text : String} : trim text = text ↔ Stripped text :=
  ⟨fun h => h ▸ stripped_trim text, trim_eq_self⟩

theorem trim_trim (input : String) : trim (trim input) = trim input :=
  trim_eq_self (stripped_trim input)

/-- Milliseconds of the steady clock, never negative. -/
def monotonicTimestampMs (milliseconds : ℤ) : ℤ :=
  if milliseconds < 0 then 0 else milliseconds

end ThermalHal
