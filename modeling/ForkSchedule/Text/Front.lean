/-!
# The front of a text

Characters of a class taken from the front of a text: what follows them is never longer than the
text, and shorter as soon as one was taken.
-/

namespace ForkSchedule.Text

theorem length_dropWhile_le (p : Char → Bool) (cs : List Char) :
    (cs.dropWhile p).length ≤ cs.length :=
  (List.dropWhile_sublist p).length_le

theorem length_dropWhile_lt {p : Char → Bool} {cs : List Char} (hne : cs.takeWhile p ≠ []) :
    (cs.dropWhile p).length < cs.length := by
  cases cs with
  | nil => simp at hne
  | cons c rest =>
    by_cases hc : p c
    · have := length_dropWhile_le p rest
      simp only [List.dropWhile_cons, hc, if_true, List.length_cons]
      omega
    · simp [hc] at hne

/-- A front of the class is what is taken, if the class ends behind it. -/
theorem takeWhile_append {p : Char → Bool} {front rest : List Char}
    (hfront : ∀ c ∈ front, p c = true) (hstops : ∀ c ∈ rest.head?, p c = false) :
    (front ++ rest).takeWhile p = front := by
  have hrest : rest.takeWhile p = [] := by
    cases rest with
    | nil => rfl
    | cons c rest => simp [hstops c rfl]
  rw [List.takeWhile_append_of_pos hfront, hrest, List.append_nil]

theorem dropWhile_append {p : Char → Bool} {front rest : List Char}
    (hfront : ∀ c ∈ front, p c = true) (hstops : ∀ c ∈ rest.head?, p c = false) :
    (front ++ rest).dropWhile p = rest := by
  have hrest : rest.dropWhile p = rest := by
    cases rest with
    | nil => rfl
    | cons c rest => simp [hstops c rfl]
  rw [List.dropWhile_append_of_pos hfront, hrest]

end ForkSchedule.Text
