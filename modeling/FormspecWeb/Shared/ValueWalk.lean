import FormspecWeb.Shared.Value
import FormspecWeb.Shared.WorkList

/-!
# Walks over JSON values

The size of a value, and that the values directly under one are smaller than it: every loop that
pushes some of them ends.
-/

namespace FormspecWeb.Shared

namespace Value

mutual

def size : Value → Nat
  | .array entries => entriesSize entries + 1
  | .object members => membersSize members + 1
  | _ => 1

def entriesSize : List Value → Nat
  | [] => 0
  | entry :: entries => entry.size + entriesSize entries

def membersSize : List (String × Value) → Nat
  | [] => 0
  | (_, value) :: members => value.size + membersSize members

end

/-- `Object.values(value)`, of an object or an array. -/
def values : Value → List Value
  | .array entries => entries
  | .object members => members.map (·.2)
  | _ => []

theorem entriesSize_eq (entries : List Value) : entriesSize entries = (entries.map size).sum := by
  induction entries with
  | nil => rfl
  | cons entry entries ih => rw [entriesSize, List.map_cons, List.sum_cons, ih]

theorem membersSize_eq (members : List (String × Value)) :
    membersSize members = ((members.map (·.2)).map size).sum := by
  induction members with
  | nil => rfl
  | cons member members ih =>
    rw [membersSize, List.map_cons, List.map_cons, List.sum_cons, ih]

theorem values_size (value : Value) : (value.values.map size).sum < value.size := by
  cases value with
  | array entries =>
    rw [values, size, entriesSize_eq]
    omega
  | object members =>
    rw [values, size, membersSize_eq]
    omega
  | _ => exact Nat.one_pos

end Value

end FormspecWeb.Shared
