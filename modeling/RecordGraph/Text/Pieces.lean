namespace RecordGraph.Text

/-! Pieces of lists between separators. A list with `n` separators has `n + 1` pieces, some of
them perhaps empty. -/

def pieces {α : Type} [DecidableEq α] (separator : α) : List α → List (List α)
  | [] => [[]]
  | item :: rest =>
      if item = separator then [] :: pieces separator rest
      else match pieces separator rest with
        | piece :: others => (item :: piece) :: others
        | [] => [[item]]

theorem pieces_ne_nil {α : Type} [DecidableEq α] (separator : α) (items : List α) :
    pieces separator items ≠ [] := by
  cases items with
  | nil => simp [pieces]
  | cons item rest =>
      rw [pieces]
      split
      · simp
      · split <;> simp

theorem not_mem_of_mem_pieces {α : Type} [DecidableEq α] {separator : α} {items piece : List α}
    (member : piece ∈ pieces separator items) : separator ∉ piece := by
  induction items generalizing piece with
  | nil => simp_all [pieces]
  | cons item rest induction =>
      rw [pieces] at member
      split at member
      · rcases List.mem_cons.1 member with rfl | later
        · simp
        · exact induction later
      · rename_i different
        split at member
        · rename_i first others found
          rcases List.mem_cons.1 member with rfl | later
          · have free : separator ∉ first := induction (by simp [found])
            simp [free, Ne.symm different]
          · exact induction (by simp [found, later])
        · rename_i found
          exact absurd found (pieces_ne_nil separator rest)

theorem pieces_of_not_mem {α : Type} [DecidableEq α] {separator : α} {items : List α}
    (absent : separator ∉ items) :
    pieces separator items = [items] := by
  induction items with
  | nil => rfl
  | cons item items induction =>
      have other : item ≠ separator := fun same => absent (same ▸ List.mem_cons_self)
      rw [pieces, if_neg other, induction fun member => absent (List.mem_cons_of_mem _ member)]

theorem pieces_append_separator {α : Type} [DecidableEq α] {separator : α} (items rest : List α) :
    pieces separator (items ++ separator :: rest) =
      pieces separator items ++ pieces separator rest := by
  induction items with
  | nil =>
      rw [List.nil_append]
      exact if_pos rfl
  | cons item items induction =>
      rw [List.cons_append, pieces, pieces, induction]
      split
      · rfl
      · cases found : pieces separator items with
        | nil => exact absurd found (pieces_ne_nil separator items)
        | cons piece others => rfl

example : pieces '.' "a..b".toList = ["a".toList, [], "b".toList] := by decide
example : pieces '.' [] = [[]] := by decide

end RecordGraph.Text
