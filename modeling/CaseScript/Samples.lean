import CaseScript.Table.Basic

/-!
# Sample tables

Small tables to try operations on, by name.
-/

namespace CaseScript.Table

/-- The sample tables and the names they go by. -/
def samples : List (String × Table) :=
  [("blank", blank),
    ("abc", ⟨["A", "B", "C"], [["a", "b", "c"]]⟩),
    ("filter_input", ⟨["v"], [["x"], ["y"], ["z"]]⟩),
    ("distinct_input", ⟨["id", "name"], [["1", "a"], ["1", "a"], ["2", "b"]]⟩),
    ("left_axis", ⟨["x"], [["1"], ["2"]]⟩),
    ("right_axis", ⟨["y"], [["a"], ["b"]]⟩),
    ("left_keyed", ⟨["k", "left"], [["1", "l1"], ["2", "l2"]]⟩),
    ("right_keyed", ⟨["k", "right"], [["2", "r2"], ["3", "r3"]]⟩),
    ("products",
      ⟨["product", "category", "band"],
        [["Road Bike", "Bikes", "high"],
          ["Mountain Bike", "Bikes", "high"],
          ["Helmet", "Accessories", "low"],
          ["Bottle", "Accessories", "low"],
          ["Jersey", "Clothing", "mid"]]⟩),
    ("years", ⟨["year"], [["2023"], ["2024"]]⟩)]

/-- The sample of a name. -/
def sample? (name : String) : Option Table := samples.lookup name

end CaseScript.Table
