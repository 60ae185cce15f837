/-!
# Trees and their occurrences

Finitely branching trees, and walks that list the labels of a tree, parents first,
each with the labels above it. A walk that enters only the children of some labels
sees exactly the occurrences below entered labels (`occurrencesAll_filter`).
-/

namespace FormspecWeb.Shared

inductive Tree (α : Type) where
  | node (label : α) (children : List (Tree α))

variable {α : Type}

mutual

/-- The occurrences a walk meets that enters the children of some labels: the
labels above each, topmost first, and its own. -/
def Tree.occurrences (enter : α → Bool) : Tree α → List (List α × α)
  | .node a children =>
    ([], a) :: if enter a then
      (occurrencesAll enter children).map fun (above, b) => (a :: above, b)
    else []

def occurrencesAll (enter : α → Bool) : List (Tree α) → List (List α × α)
  | [] => []
  | t :: ts => t.occurrences enter ++ occurrencesAll enter ts

end

def allOccurrences (ts : List (Tree α)) : List (List α × α) := occurrencesAll (fun _ => true) ts

theorem filter_below (enter : α → Bool) (a : α) (occurrences : List (List α × α)) :
    (occurrences.map fun (above, b) => (a :: above, b)).filter (fun o => o.1.all enter)
      = if enter a then
          (occurrences.filter fun o => o.1.all enter).map fun (above, b) => (a :: above, b)
        else [] := by
  rw [List.filter_map]
  cases h : enter a with
  | true => simp [Function.comp_def, h]
  | false => simp [Function.comp_def, h]

mutual

theorem Tree.occurrences_filter (enter : α → Bool) (t : Tree α) :
    t.occurrences enter = (t.occurrences fun _ => true).filter fun o => o.1.all enter := by
  cases t with
  | node a children =>
    have hchildren := occurrencesAll_filter enter children
    rw [allOccurrences] at hchildren
    simp only [Tree.occurrences, if_true, List.filter_cons, List.all_nil, filter_below, hchildren]

theorem occurrencesAll_filter (enter : α → Bool) (ts : List (Tree α)) :
    occurrencesAll enter ts = (allOccurrences ts).filter fun o => o.1.all enter := by
  cases ts with
  | nil => rfl
  | cons t ts =>
    have hhead := t.occurrences_filter enter
    have htail := occurrencesAll_filter enter ts
    simp only [allOccurrences, occurrencesAll, List.filter_append] at htail ⊢
    rw [hhead, htail]

end

end FormspecWeb.Shared
